import RecordFilter.Config
import RecordFilter.Scripting.Host

/-!
# Configurations from a scripting language

A configuration is given as a dictionary or as any other value, whose attributes are then looked
at. All keys of a dictionary are checked, in order, before any of its values; an object may have
attributes that are no settings. A setting that is missing, or that is the absent value, takes its
default, and so does one that the value fails to look up.
-/

namespace RecordFilter.Scripting

variable {α ε : Type} [Host α ε]

/-- What a value has under a name: an item of a dictionary, or an attribute. -/
def member? (v : α) (name : String) : Option α :=
  match Host.keys? v with
  | some _ => (Host.getItem v name).toOption.join
  | none => (Host.getAttr v name).toOption

variable [Exceptions ε]

/-- Checks that a key of a dictionary is a setting. -/
def checkKey (key : α) : Except ε Unit := do
  let name ← Host.text key
  if name = Config.modeKey || name = Config.capacityKey then return ()
  else .error (raise (.invalidConfig ("unknown key: " ++ name)))

/-- Checks the keys of a dictionary in order. -/
def checkKeys : List α → Except ε Unit
  | [] => .ok ()
  | key :: rest => do
    checkKey key
    checkKeys rest

/-- The setting under a key of a configuration: what its value is converted to, or the default. -/
def settingOf {β : Type} (convert : α → Except ε β) (default : β) (config : α) (key : String) :
    Except ε β :=
  match member? config key with
  | none => .ok default
  | some value =>
    if Host.isAbsent value then .ok default
    else
      (convert value).mapError fun cause =>
        raise (.invalidConfig (key ++ ": " ++ Exceptions.describe cause))

/-- The two settings of a configuration, the mode first. -/
def settingsOf (config : α) : Except ε Config := do
  let allowed ← settingOf Host.flag false config Config.modeKey
  let cacheCapacity ← settingOf Host.count defaultCacheCapacity config Config.capacityKey
  return { mode := .ofAllowed allowed, cacheCapacity }

/-- The configuration that a value describes. -/
def configOf (config : α) : Except ε Config := do
  checkKeys ((Host.keys? config).getD [])
  settingsOf config

end RecordFilter.Scripting
