import PoolWatch.Key

/-! # Remote reads

    The chain is read account by account from a node.  A reader answers each
    question from the questions asked before it, so that a node whose
    answers change, or run out, is a reader as well.  A reader that ignores
    the history answers as a fixed function of the address. -/

namespace PoolWatch

/-- An account as a node tells it. -/
structure AccountInfo where
  data : Bytes
  owner : Key
  lamports : UInt64
  deriving DecidableEq

/-- A question to the node. -/
inductive Query where
  | account (address : Key)
  | balance (address : Key)
  | blockhash
  deriving DecidableEq

/-- What a node answers.  The questions asked before come newest first, and a
    refusal is the outermost text of its error. -/
structure Reader where
  account : List Query → Key → Except String (Option AccountInfo)
  balance : List Query → Key → Except String UInt64
  blockhash : List Query → Except String Key

namespace Reader

/-- A node without accounts, balances or blocks. -/
def empty : Reader where
  account _ _ := .ok none
  balance _ _ := .ok 0
  blockhash _ := .ok .zero

/-- A reader that answers as a fixed function of the address. -/
structure IsFixed (r : Reader) : Prop where
  account : ∀ past past' k, r.account past k = r.account past' k
  balance : ∀ past past' k, r.balance past k = r.balance past' k

end Reader

end PoolWatch
