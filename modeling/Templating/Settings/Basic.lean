import Templating.Fault
import Templating.LengthBound
import Templating.Text.Classes

set_option autoImplicit false

/-! # Settings

What the services of a compiler are told when they are made. Every setting has a default, and
`Settings.validate` says which combinations are accepted.
-/

namespace Templating

/-- The settings of the services of a compiler. -/
structure Settings where
  namePrefix : String
  pageSize : UInt64
  -- the room made for an output of unknown length
  capacity : UInt64
  -- the number of entries from which the registry purges itself
  purgeThreshold : UInt64
deriving DecidableEq, Repr

namespace Settings

/-- The settings that hold unless others are given. -/
def default : Settings where
  namePrefix := "spark.textmodel.Generated$"
  pageSize := 4294967296
  capacity := 64
  purgeThreshold := 1024

/-- Accepts settings from which names and a registry can be made. Of several faults the first
in the order of the fields is reported. -/
def validate (s : Settings) : Except SettingsFault Settings :=
  if s.namePrefix = "" then .error .emptyPrefix
  else if s.namePrefix.toList.any Text.isControl then .error .controlInPrefix
  else if s.pageSize = 0 then .error .zeroPageSize
  else if s.purgeThreshold = 0 then .error .zeroPurgeThreshold
  else .ok s

end Settings

end Templating
