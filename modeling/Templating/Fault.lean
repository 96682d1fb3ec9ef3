import Templating.Program.Malformed

set_option autoImplicit false

/-! # Faults

Everything that an operation of this library can refuse. Each fault has a stable code, and
belongs to at most one of two groups: a misuse by the caller, or a broken promise inside the
library.
-/

namespace Templating

/-- Why a unit could not be made from its source. -/
inductive SynthesisFailure where
  | malformed (error : SyntaxError)
  -- the loader refused the source for a reason of its own
  | refused (detail : String)
deriving DecidableEq, Repr

/-- The description of the failure. -/
def SynthesisFailure.message : SynthesisFailure → String
  | malformed error => error.message
  | refused detail => detail

/-- Why settings are not accepted. -/
inductive SettingsFault where
  | document
  | emptyPrefix
  | controlInPrefix
  | zeroPageSize
  | zeroPurgeThreshold
  | other (detail : String)
deriving DecidableEq, Repr

/-- The description of the fault. -/
def SettingsFault.message : SettingsFault → String
  | document => "the document is not a table of known settings"
  | emptyPrefix => "`unit_name_prefix` must not be empty"
  | controlInPrefix => "`unit_name_prefix` must not contain control characters"
  | zeroPageSize => "`name_page_size` must be greater than zero"
  | zeroPurgeThreshold => "`registry_purge_threshold` must be greater than zero"
  | other detail => detail

/-- What an operation refuses. -/
inductive Fault where
  | alreadyReleased
  -- the builder has been built and not cleared since
  | alreadyBuilt
  | missingTarget
  | synthesis (unit : String) (failure : SynthesisFailure)
  | unitAlreadyDefined (unit : String)
  -- nothing of the requested type is handed over under the key
  | unknownKey (key : String)
  | settings (fault : SettingsFault)
deriving DecidableEq, Repr

namespace Fault

/-- The description of the fault. -/
def message : Fault → String
  | alreadyReleased => "text model builder has already been released"
  | alreadyBuilt => "text model builder has already been built; call `clear` before reusing it"
  | missingTarget => "dynamic text model cannot be rendered without a target"
  | synthesis unit failure =>
    "failed to synthesize text model unit `" ++ unit ++ "`: " ++ failure.message
  | unitAlreadyDefined unit => "text model unit `" ++ unit ++ "` is already defined"
  | unknownKey key => "correlation key `" ++ key ++ "` is not present in the table"
  | settings fault => "invalid text model compiler configuration: " ++ fault.message

/-- The stable code of the kind of fault. -/
def code : Fault → String
  | alreadyReleased => "textmodel.builder.released"
  | alreadyBuilt => "textmodel.builder.built"
  | missingTarget => "textmodel.render.missing_target"
  | synthesis _ _ => "textmodel.synthesis.failed"
  | unitAlreadyDefined _ => "textmodel.synthesis.duplicate_unit"
  | unknownKey _ => "textmodel.correlation.unknown_key"
  | settings _ => "textmodel.config.invalid"

/-- Whether the caller misused the library. -/
def isMisuse : Fault → Bool
  | alreadyReleased | alreadyBuilt | missingTarget => true
  | _ => false

/-- Whether a promise inside the library was broken. -/
def isInternal : Fault → Bool
  | unknownKey _ => true
  | _ => false

end Fault

end Templating
