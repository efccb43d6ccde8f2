import ChainIndexer.Chain.Block
import ChainIndexer.Chain.Coin

/-!
# Governance

Proposals, their tallies and the sections of the governance parameters.
-/

namespace ChainIndexer

open Json (Codec Field Fields record Value)

/-- The votes on a proposal. -/
structure TallyResult where
  yes : String
  abstain : String
  no : String
  noWithVeto : String
  deriving DecidableEq, Repr

namespace TallyResult

/-- A required text that may go by a second key. -/
def count (key : String) (get : TallyResult → String) : Field TallyResult String :=
  { key, get, codec := .string, aliases := [key ++ "_count"] }

/-- The JSON form of a tally. -/
def codec : Codec TallyResult :=
  record "TallyResult"
    (.cons (count "yes" yes) <|
     .cons (count "abstain" abstain) <|
     .cons (count "no" no) <|
     .cons (count "no_with_veto" noWithVeto) .nil)
    fun (yes, abstain, no, noWithVeto, _) => { yes, abstain, no, noWithVeto }

/-- No votes counted. -/
def empty : TallyResult := ⟨"", "", "", ""⟩

end TallyResult

/-- A proposal. -/
structure Proposal where
  proposalId : UInt64
  content : Value
  status : String
  finalTallyResult : TallyResult
  submitTime : Time
  depositEndTime : Time
  totalDeposit : List Coin
  votingStartTime : Option Time
  votingEndTime : Option Time

namespace Proposal

/-- The JSON form of a proposal. -/
def codec : Codec Proposal :=
  record "Proposal"
    (.cons (.required "proposal_id" proposalId .stringUInt64) <|
     .cons (.default "content" content .value .null) <|
     .cons (.required "status" status .string) <|
     .cons (.default "final_tally_result" finalTallyResult TallyResult.codec .empty) <|
     .cons (.required "submit_time" submitTime .time) <|
     .cons (.required "deposit_end_time" depositEndTime .time) <|
     .cons (.default "total_deposit" totalDeposit Coin.codec.list []) <|
     .cons (.default "voting_start_time" votingStartTime (Codec.option .time) none) <|
     .cons (.default "voting_end_time" votingEndTime (Codec.option .time) none) .nil)
    fun (proposalId, content, status, finalTallyResult, submitTime, depositEndTime, totalDeposit,
        votingStartTime, votingEndTime, _) =>
      { proposalId, content, status, finalTallyResult, submitTime, depositEndTime, totalDeposit,
        votingStartTime, votingEndTime }

/-- The statuses after which a proposal does not change. -/
def finalStatuses : List String :=
  ["PROPOSAL_STATUS_PASSED", "PROPOSAL_STATUS_REJECTED", "PROPOSAL_STATUS_FAILED"]

/-- The proposal does not change any more. -/
def isFinal (p : Proposal) : Bool := finalStatuses.contains p.status

end Proposal

/-- The sections of the governance parameters. -/
inductive GovParamsKind
  | deposit
  | voting
  | tallying
  deriving DecidableEq, Repr

def GovParamsKind.name : GovParamsKind → String
  | deposit => "deposit"
  | voting => "voting"
  | tallying => "tallying"

end ChainIndexer
