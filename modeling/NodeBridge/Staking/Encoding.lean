import NodeBridge.Keccak
import NodeBridge.Staking.Query

/-
This file writes queries as contract calls and reads the answers back from words.
A call is the selector of its method and one word for each argument.
-/

namespace NodeBridge.Staking

/-- Three contracts share the methods among themselves. -/
inductive ContractRole where
  | staking
  | tokenizer
  | minter
  deriving DecidableEq

/-- The answer of a contract has no bytes at all or fewer than its words need. -/
inductive DecodeError where
  | empty (method : String)
  | short
  deriving DecidableEq

def DecodeError.message : DecodeError → String
  | .empty method =>
      "contract call to \x60" ++ method ++
        "\x60 returned no data (\"0x\"); the called address might not be a contract"
  | .short => "ABI decoding failed: buffer overrun while deserializing"

/-- The selector of a method is the beginning of the digest of its signature. -/
def selector (signature : String) : List UInt8 := (Keccak.digest signature.toUTF8.toList).take 4

/-- This is the word at a place, and bytes after the words are ignored. -/
def wordAt (bytes : List UInt8) (place : Nat) : Word :=
  Word.ofBytes ((bytes.drop (32 * place)).take 32)

namespace Query

def contract : Query → ContractRole
  | outstandingToken _ _ => .tokenizer
  | withdrawalAllowed _ _ => .tokenizer
  | defi _ => .minter
  | _ => .staking

def signature (query : Query) : String :=
  query.method ++ "(" ++ String.intercalate "," (query.arguments.map Argument.typeName) ++ ")"

/-- Arguments follow the selector in their order. -/
def input (query : Query) : List UInt8 :=
  selector query.signature ++ query.arguments.flatMap fun argument => argument.asWord.bytes

/-- This is the count of words that an answer needs. -/
def answerWords : Query → Nat
  | snapshot _ => 7
  | lockup _ _ => 4
  | unlockPenalty _ _ _ => 0
  | _ => 1

/-- The first bytes of a word hold a version, and any word but zero stands for true. -/
def ofWords (bytes : List UInt8) : (query : Query) → query.Answer
  | version => (bytes[0]?.getD 0, bytes[1]?.getD 0, bytes[2]?.getD 0)
  | snapshot _ => {
      endTime := wordAt bytes 0
      epochFee := wordAt bytes 1
      totalBaseRewardWeight := wordAt bytes 2
      totalTxRewardWeight := wordAt bytes 3
      baseRewardPerSecond := wordAt bytes 4
      totalStake := wordAt bytes 5
      totalSupply := wordAt bytes 6 }
  | lockup _ _ => {
      lockedStake := wordAt bytes 0
      fromEpoch := wordAt bytes 1
      endTime := wordAt bytes 2
      duration := wordAt bytes 3 }
  | unlockPenalty _ _ _ => bytes
  | withdrawalAllowed _ _ => wordAt bytes 0 ≠ 0
  | parameter _ => wordAt bytes 0
  | stake _ _ _ => wordAt bytes 0
  | pendingRewards _ _ => wordAt bytes 0
  | outstandingToken _ _ => wordAt bytes 0
  | defi _ => wordAt bytes 0

/-- An answer in words has to be long enough. -/
def decode (query : Query) (bytes : List UInt8) : Except DecodeError query.Answer :=
  if query.answerWords = 0 then .ok (query.ofWords bytes)
  else if bytes.isEmpty then .error (.empty query.method)
  else if bytes.length < 32 * query.answerWords then .error .short
  else .ok (query.ofWords bytes)

end Query

end NodeBridge.Staking
