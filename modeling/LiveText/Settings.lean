import LiveText.Notation.Reader
import LiveText.Validation.Lenient

/-!
# Settings

The settings of the service. Each has a default; a value that is given wins over the environment,
and the environment wins over the default. The names of environment variables are matched in any
case, and other variables are passed over; a given value that is no setting is an issue.

The pages that may call the service are those of the frontend on this machine, unless the settings
list others.
-/

set_option autoImplicit false

namespace LiveText

/-- The settings of the service. -/
structure Settings where
  appName : Text := "Variable Reference Engine".toList
  debug : Bool := true
  host : Text := "0.0.0.0".toList
  portNumber : Int := 8000
  frontendPort : Int := 5173
  catalogBase : Text := "http://localhost:3001/api".toList
  catalogPath : Text := "/variables".toList
  /-- how long a request to the catalog may take, in seconds -/
  catalogTimeout : Float := 10
  catalogAttempts : Int := 3
  /-- the bounds of the waits between attempts, in seconds -/
  catalogWaitMin : Float := 0.5
  catalogWaitMax : Float := 5
  shortIdLength : Int := 4
  /-- how long recognition waits after typing and after pasting, in milliseconds -/
  typingDelay : Int := 300
  pastingDelay : Int := 100
  /-- the pages that may call the service -/
  origins : List Text := []

namespace Settings

/-- An environment variable that is not read as a text in the data notation. -/
structure Unread where
  name : String
  fault : Notation.Fault

/-- Why there are no settings. -/
inductive Fault
  | unreadable (v : Unread)
  | invalid (issues : List Issue)

/-- The names of the settings. -/
def names : List String :=
  ["app_name", "debug", "host", "port", "frontend_port", "catalog_base_url", "catalog_path",
   "catalog_timeout", "catalog_max_retries", "catalog_retry_wait_min", "catalog_retry_wait_max",
   "short_id_length", "edit_debounce_ms", "paste_debounce_ms", "cors_origins"]

/-- The setting that environment variables hold as a text in the data notation. -/
def originsName : String := "cors_origins"

/-! ## The environment -/

/-- The value of an environment variable; of several that differ in case the last one counts. -/
def valueOf? (environment : List (Text × Text)) (name : String) : Option Text :=
  (environment.reverse.find? fun v => v.1.map Char.toLower == name.toList).map Prod.snd

/-- What the environment says about a setting, if anything. -/
def fromEnvironment (limits : Notation.Limits) (environment : List (Text × Text)) (name : String) :
    Except Fault (Option Value) :=
  match valueOf? environment name with
  | none => .ok none
  | some t =>
    if name = originsName then
      match Notation.read t limits with
      | .ok .null => .ok none
      | .ok v => .ok (some v)
      | .error e => .error (.unreadable ⟨name, e.fault⟩)
    else .ok (some (.text t))

/-- The members that the environment gives. -/
def environmentMembers (limits : Notation.Limits) (environment : List (Text × Text)) :
    Except Fault (List (Text × Value)) :=
  (names.mapM fun name =>
    (fromEnvironment limits environment name).map fun v => v.map fun v => (name.toList, v)).map
      (·.filterMap id)

/-! ## Checking -/

/-- The check that every value that is given is a setting. -/
def checkDeclared (values : List (Text × Value)) : Checked Unit :=
  match (values.map Prod.fst).filter fun name => !(names.map String.toList).contains name with
  | [] => .ok ()
  | others => .error (others.map fun name => ⟨[name], .undeclared⟩)

/-- The check of all settings, each with its default. -/
def check (v : Value) : Checked Settings :=
  let d : Settings := {}
  Settings.mk <$> optional checkText d.appName "app_name" v
    <*> optional checkBool d.debug "debug" v
    <*> optional checkText d.host "host" v
    <*> optional checkInt d.portNumber "port" v
    <*> optional checkInt d.frontendPort "frontend_port" v
    <*> optional checkText d.catalogBase "catalog_base_url" v
    <*> optional checkText d.catalogPath "catalog_path" v
    <*> optional checkFloat d.catalogTimeout "catalog_timeout" v
    <*> optional checkInt d.catalogAttempts "catalog_max_retries" v
    <*> optional checkFloat d.catalogWaitMin "catalog_retry_wait_min" v
    <*> optional checkFloat d.catalogWaitMax "catalog_retry_wait_max" v
    <*> optional checkInt d.shortIdLength "short_id_length" v
    <*> optional checkInt d.typingDelay "edit_debounce_ms" v
    <*> optional checkInt d.pastingDelay "paste_debounce_ms" v
    <*> optional checkTexts d.origins originsName v

/-- The settings with the pages of the frontend allowed, where they list no page. -/
def withOrigins (s : Settings) : Settings :=
  let page (host : String) : Text :=
    "http://".toList ++ host.toList ++ ':' :: Decimal.ofInt s.frontendPort
  if s.origins.isEmpty then { s with origins := [page "localhost", page "127.0.0.1"] } else s

/-- The settings for the values that are given and an environment. -/
def read (values : List (Text × Value)) (environment : List (Text × Text))
    (limits : Notation.Limits := {}) : Except Fault Settings := do
  let members ← environmentMembers limits environment
  match (fun s () => s) <$> check (.object (values ++ members)) <*> checkDeclared values with
  | .ok s => return s.withOrigins
  | .error issues => throw (.invalid issues)

end Settings

/-- What is wrong with the settings, in words. Of a variable that nests too deep, the fault of the
reader is told as it is. -/
def Settings.Fault.message : Settings.Fault → Text
  | unreadable v =>
    if v.fault.isTooDeep then v.fault.message.toList
    else
      ("error parsing value for field \"" ++ v.name ++
        "\" from source \"EnvSettingsSource\"").toList
  | invalid issues => Issue.messages issues

end LiveText
