import PoolWatch.Submit.Router

/-! # Executing intents

    An intent is a swap that a strategy wants sent on some channels.  Each
    channel gets a transaction of its own, because only the paid relay's
    carries a tip and a memo. -/

namespace PoolWatch

/-- A swap that should be sent, and on which channels. -/
structure Intent where
  order : SwapOrder
  channels : List Channel
  deriving DecidableEq

/-- Who signs and pays, and the settings that all its swaps share. -/
structure Executor where
  seed : Bytes
  options : SwapOptions
  deriving DecidableEq

namespace Executor

/-- The key that pays. -/
def payer (x : Executor) : Key :=
  keyOfSeed x.seed

/-- The payer's account for the wrapped native asset. -/
def native (x : Executor) : Key :=
  Derived.tokenAccount x.payer Address.wrappedNative

/-- The signed transaction of an order on a channel. -/
def transaction (x : Executor) (order : SwapOrder) (blockhash : Key) (channel : Channel) :
    Except BuildError Transaction :=
  Swap.transaction x.seed x.native x.options order channel blockhash

/-- Builds the transaction of a channel and hands it over; one that cannot be
    built is not handed to anyone. -/
def send (x : Executor) (order : SwapOrder) (blockhash : Key) (channel : Channel) (r : Router) :
    Submission × Router :=
  match x.transaction order blockhash channel with
  | .error e => (.error (.build e), r)
  | .ok tx => r.submit channel tx

/-- Sends an intent on each of its channels. -/
def execute (x : Executor) (intent : Intent) (blockhash : Key) (r : Router) :
    List (Channel × Submission) × Router :=
  Router.sendEach (x.send intent.order blockhash) intent.channels r

/-- What is said of the channels that an intent failed on. -/
def warnings (intent : Intent) (answers : List (Channel × Submission)) : List String :=
  answers.filterMap fun
    | (channel, .error e) =>
      some (intent.order.keys.id.text ++ " | " ++ channel.name ++ " | " ++
        intent.order.action.name ++ " failed: " ++ e.message)
    | (_, .ok _) => none

end Executor

end PoolWatch
