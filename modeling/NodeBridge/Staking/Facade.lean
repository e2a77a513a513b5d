import NodeBridge.Config.Validation
import NodeBridge.Connection.Exchange
import NodeBridge.Duration
import NodeBridge.Hex
import NodeBridge.Metrics
import NodeBridge.Staking.Encoding
import NodeBridge.Staking.Inquiry

/-
This file answers the queries of a reading with calls to a node.
Every call has a limit, and every call that fails is counted under its method.
-/

namespace NodeBridge.Staking

/-- The contracts are known by their addresses, and the limit of a call is in seconds. -/
structure Facade where
  staking : Address
  tokenizer : Option Address
  defi : DefiAddresses
  callTimeout : UInt64
  deriving DecidableEq

namespace Facade

def required (config : Config) (contract : Config.Contract) : Except Failure Address :=
  let value := contract.value config
  match Address.parse value with
  | .ok address => .ok address
  | .error cause => .error (.malformed (.address contract.name value cause))

/-- An empty text stands for a contract that is not set. -/
def optional (config : Config) (contract : Config.Contract) : Except Failure (Option Address) :=
  if (contract.value config).isEmpty then .ok none else (required config contract).map some

/-- The addresses are read one by one, and the first one that is unfit ends the reading. -/
def ofConfig (config : Config) : Except Failure Facade := do
  let staking ← required config .staking
  let tokenizer ← optional config .tokenizer
  let addressProvider ← optional config .addressProvider
  let minter ← optional config .minter
  let tokenRegistry ← optional config .tokenRegistry
  let rewardDistribution ← optional config .rewardDistribution
  let collateralPool ← optional config .collateralPool
  let debtPool ← optional config .debtPool
  let priceOracleAggregate ← optional config .priceOracleAggregate
  return {
    staking, tokenizer
    defi := { addressProvider, minter, tokenRegistry, rewardDistribution, collateralPool,
              debtPool, priceOracleAggregate }
    callTimeout := config.rpc.callTimeout }

/-- The description shows the addresses in lower case. -/
def description (facade : Facade) : String :=
  let tokenizer := match facade.tokenizer with
    | none => "None"
    | some address => "Some(" ++ address.hex ++ ")"
  "AlloySfc \x7b sfc: " ++ facade.staking.hex ++ ", tokenizer: " ++ tokenizer ++
    ", call_timeout: " ++ (Duration.ofSeconds facade.callTimeout.toNat).text ++ " \x7d"

/-- A query needs the contract that its method belongs to. -/
def target (facade : Facade) (query : Query) : Except Failure Address :=
  let known (name : String) (address : Option Address) : Except Failure Address :=
    match address with
    | some address => .ok address
    | none => .error (.notConfigured name)
  match query.contract with
  | .staking => .ok facade.staking
  | .tokenizer => known "SFC tokenizer" facade.tokenizer
  | .minter => known "fMint minter" facade.defi.minter

/-- A call with a sender is asked on top of the transactions that are waiting. -/
def request (address : Address) (query : Query) : Connection.Request :=
  let call := [("to", Json.text address.hex), ("input", .text (Hex.text query.input))]
  let parameters := match query.sender? with
    | some sender => [.object (("from", .text sender.hex) :: call), .text "pending"]
    | none => [.object call, .text "latest"]
  ⟨"eth_call", .list parameters⟩

/-- The result of a call is bytes, written in hexadecimal or as a list of numbers. -/
def bytesOf? : Json → Option (List UInt8)
  | .text source => Hex.ofText? source
  | .list items => items.mapM Json.byte?
  | _ => none

/-- What the node sends is read as bytes and then as the answer to the query. -/
def interpret (query : Query) (value : Json) : Except String query.Answer :=
  match bytesOf? value with
  | none => .error Connection.unreadable
  | some bytes =>
      match query.decode bytes with
      | .ok answer => .ok answer
      | .error cause => .error cause.message

/-- A session is an exchange with a node and the counts of what failed in it. -/
structure Session where
  exchange : Connection.Exchange
  metrics : Metrics := []

def countFailure (query : Query) (session : Session) : Session :=
  { session with metrics := session.metrics.increment (.callFailures query.method) }

/-- The limit of a call in milliseconds. -/
def limit (facade : Facade) : Nat := 1000 * facade.callTimeout.toNat

/-- This function asks the node, and a contract that is not set is never asked. -/
def respond (facade : Facade) : Inquiry.Responder Session := fun query session =>
  match facade.target query with
  | .error failure => (.error failure, session)
  | .ok address =>
      let (outcome, exchange) := Connection.Exchange.call facade.limit (request address query) session.exchange
      let session := { session with exchange }
      match outcome with
      | .error .late =>
          (.error (.timeout query.method facade.callTimeout.toNat), countFailure query session)
      | .error (.failed reason) => (.error (.call query.method reason), countFailure query session)
      | .ok value =>
          match interpret query value with
          | .ok answer => (.ok answer, session)
          | .error reason => (.error (.call query.method reason), countFailure query session)

end Facade

end NodeBridge.Staking
