/-!
Why a text is refused as an identity, a name or a selector.
-/

namespace Roster

inductive Invalid where
  | blankAgent
  | notSpiffe (agent : String)
  | repeatedAgent (agent : String)
  | blankUid
  | blankName
  | blankPlugin
  /-- Selectors are counted from zero. -/
  | blankSelector (index : Nat)
  deriving DecidableEq

def Invalid.message : Invalid → String
  | .blankAgent => "agent identity must not be empty"
  | .notSpiffe agent => "agent identity '" ++ agent ++ "' is not a valid spiffe:// URI"
  | .repeatedAgent agent => "agent '" ++ agent ++ "' is listed more than once"
  | .blankUid => "cluster UID must not be empty"
  | .blankName => "cluster name must not be empty"
  | .blankPlugin => "plugin name must not be empty"
  | .blankSelector index => "selector at index " ++ toString index ++ " must not be empty"

end Roster
