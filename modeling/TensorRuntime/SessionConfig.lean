import TensorRuntime.Backend
import TensorRuntime.Operator
import TensorRuntime.Text.StrictJson

/-! Session settings and their written form. -/

namespace TensorRuntime

/-- Overrides are by operator name, each name once. -/
structure SessionConfig where
  backend : Backend
  overrides : List (String × Backend)
  lifetime : StateLifetime
  allowFallback : Bool
  deriving Repr, Inhabited

namespace SessionConfig

def standard : SessionConfig := ⟨.reference, [], .untilRelease, true⟩

def forBackend (backend : Backend) : SessionConfig := { standard with backend }

def strict (backend : Backend) : SessionConfig :=
  { standard with backend, allowFallback := false }

def withOverride (config : SessionConfig) (operator : String) (backend : Backend) :
    SessionConfig :=
  { config with
    overrides := (config.overrides.filter fun entry => entry.1 != operator) ++
      [(operator, backend)] }

def withLifetime (config : SessionConfig) (lifetime : StateLifetime) : SessionConfig :=
  { config with lifetime }

def override? (config : SessionConfig) (operator : String) : Option Backend :=
  (config.overrides.find? fun entry => entry.1 == operator).map Prod.snd

def backendFor (config : SessionConfig) (operator : String) : Backend :=
  (config.override? operator).getD config.backend

def same (first second : SessionConfig) : Bool :=
  first.backend == second.backend && first.lifetime == second.lifetime &&
    first.allowFallback == second.allowFallback &&
    first.overrides.length == second.overrides.length &&
    first.overrides.all fun entry => second.override? entry.1 == some entry.2

def enumeration? {α : Type} (ofName? : String → Option α) : JsonValue → Option α
  | .text (some name) => ofName? name
  | .object [(some name, .null)] => ofName? name
  | _ => none

def overrides? : List (Option String × JsonValue) → Option (List (String × Backend))
  | [] => some []
  | (some name, value) :: rest => do
      let backend ← enumeration? Backend.ofName? value
      let following ← overrides? rest
      return if following.any fun entry => entry.1 == name then following
        else (name, backend) :: following
  | (none, _) :: _ => none

def setField (config : SessionConfig) (field : Nat) (value : JsonValue) : Option SessionConfig :=
  match field, value with
  | 0, value => (enumeration? Backend.ofName? value).map fun backend => { config with backend }
  | 1, .object members => (overrides? members).map fun overrides => { config with overrides }
  | 2, value =>
      (enumeration? StateLifetime.ofName? value).map fun lifetime => { config with lifetime }
  | 3, .bool allowFallback => some { config with allowFallback }
  | _, _ => none

def fieldNames : List String :=
  ["backend", "backend_overrides", "lifetime", "allow_quant_fallback"]

/-- Sets fields by name. A field may be named once; other names are passed over. -/
def setMembers (config : SessionConfig) (seen : List Nat) :
    List (Option String × JsonValue) → Option SessionConfig
  | [] => some config
  | (none, _) :: _ => none
  | (some name, value) :: rest =>
      match fieldNames.findIdx? (· == name) with
      | none => config.setMembers seen rest
      | some field =>
          if field ∈ seen then none
          else do (← config.setField field value).setMembers (field :: seen) rest

def setItems (config : SessionConfig) (field : Nat) : List JsonValue → Option SessionConfig
  | [] => some config
  | value :: rest => do (← config.setField field value).setItems (field + 1) rest

def parse (text : String) : Except Error SessionConfig :=
  let config : Option SessionConfig := do
    match ← StrictJson.read? text with
    | .object members => standard.setMembers [] members
    | .array items => standard.setItems 0 items
    | _ => none
  match config with
  | some config => .ok config
  | none => .error (.invalidConfig "not a session configuration")

def overridesText (overrides : List (String × Backend)) : String :=
  if overrides.isEmpty then "\x7b\x7d"
  else
    "\x7b\n" ++ ",\n".intercalate (overrides.map fun entry =>
      "    " ++ StrictJson.quoted entry.1 ++ ": " ++ StrictJson.quoted entry.2.name) ++ "\n  \x7d"

def text (config : SessionConfig) : String :=
  "\x7b\n  \"backend\": " ++ StrictJson.quoted config.backend.name ++
    ",\n  \"backend_overrides\": " ++ overridesText config.overrides ++
    ",\n  \"lifetime\": " ++ StrictJson.quoted config.lifetime.name ++
    ",\n  \"allow_quant_fallback\": " ++ (if config.allowFallback then "true" else "false") ++
    "\n\x7d"

end SessionConfig

end TensorRuntime
