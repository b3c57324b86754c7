import PoolWatch.Registry.Reader
import PoolWatch.Store.Basic
import PoolWatch.Pool.Keys

/-! # The registry

    What is known of the chain: the store, and the node that it is filled
    from.  Lookup tables and pool keys are read once and then kept; nothing
    is kept unless everything it needs was read. -/

namespace PoolWatch

/-- A store, a node, and the questions asked of the node, newest first. -/
structure Registry where
  store : Store
  reader : Reader
  asked : List Query

/-- Why an address could not be resolved. -/
inductive ResolveError where
  | noAccountIndexes
  | indexOutOfRange (index len : Nat)
  | tableNotFound (table : Key)
  | decode (error : DecodeError)
  | store (error : StoreError)
  | remote (text : String)
  deriving DecidableEq

/-- What is wrong, as a sentence. -/
def ResolveError.message : ResolveError → String
  | .noAccountIndexes => "instruction carries no account indexes"
  | .indexOutOfRange index len =>
    "account index " ++ Text.Decimal.ofNat index ++ " out of range (resolvable " ++
      Text.Decimal.ofNat len ++ ")"
  | .tableNotFound table => "lookup table " ++ table.text ++ " not found"
  | .decode e => e.message
  | .store e => e.message
  | .remote text => "remote read: " ++ text

/-- Why the keys or the balance of a pool could not be had. -/
inductive PoolError where
  | neitherMintIsNative
  | accountNotFound (address : Key)
  | decode (error : DecodeError)
  | store (error : StoreError)
  | remote (text : String)
  deriving DecidableEq

/-- What is wrong, as a sentence. -/
def PoolError.message : PoolError → String
  | .neitherMintIsNative => "neither pool mint is the native asset"
  | .accountNotFound address => "account " ++ address.text ++ " not found"
  | .decode e => e.message
  | .store e => e.message
  | .remote text => "remote read: " ++ text

namespace Registry

/-! ## Questions -/

/-- Asks the node for an account. -/
def readAccount {m : Type → Type} [Monad m] [MonadStateOf Registry m] (address : Key) :
    m (Except String (Option AccountInfo)) := do
  let r ← get
  set { r with asked := .account address :: r.asked }
  pure (r.reader.account r.asked address)

/-- Asks the node for a balance. -/
def readBalance {m : Type → Type} [Monad m] [MonadStateOf Registry m] (address : Key) :
    m (Except String UInt64) := do
  let r ← get
  set { r with asked := .balance address :: r.asked }
  pure (r.reader.balance r.asked address)

/-- Asks the node for the latest block hash. -/
def readBlockhash {m : Type → Type} [Monad m] [MonadStateOf Registry m] :
    m (Except String Key) := do
  let r ← get
  set { r with asked := .blockhash :: r.asked }
  pure (r.reader.blockhash r.asked)

/-- How often an account was asked for. -/
def accountReads (r : Registry) (address : Key) : Nat :=
  r.asked.count (.account address)

end Registry

/-- An operation on the registry that may be refused. -/
abbrev RegistryM (ε : Type) := ExceptT ε (StateM Registry)

/-- A value or a refusal, the refusal under another name. -/
def orThrow {ε ε' α : Type} (wrap : ε → ε') : Except ε α → RegistryM ε' α
  | .ok a => pure a
  | .error e => throw (wrap e)

namespace Registry

/-! ## Lookup tables -/

/-- The content of a lookup table, from the store if it is kept there. -/
def lookupTable (table : Key) : RegistryM ResolveError Account.LookupTable := do
  let r ← get
  match ← orThrow .store (r.store.record? Account.LookupTable.ofJson? table.text .lookupTable) with
  | some kept => pure kept
  | none =>
    match ← orThrow .remote (← readAccount table) with
    | none => throw (.tableNotFound table)
    | some account =>
      let content ← orThrow .decode (Account.LookupTable.decode account.data)
      modify fun r => { r with store := r.store.putRecord table.text .lookupTable content.toJson }
      pure content

/-! ## Pools -/

/-- The data of an account that has to exist. -/
def accountData (address : Key) : RegistryM PoolError Bytes := do
  match ← orThrow .remote (← readAccount address) with
  | some account => pure account.data
  | none => throw (.accountNotFound address)

/-- The keys of a venue, from the store if they are kept there; else from the
    pool's account and then its market's. -/
def poolKeys (venue : Key) : RegistryM PoolError PoolKeys := do
  let r ← get
  match ← orThrow .store (r.store.record? PoolKeys.ofJson? venue.text .poolKeys) with
  | some kept => pure kept
  | none =>
    let pool ← orThrow .decode (Account.decode Account.PoolState.codec (← accountData venue))
    let market ←
      orThrow .decode (Account.decode Account.MarketState.codec (← accountData pool.marketId))
    let keys := PoolKeys.assemble venue pool market
    modify fun r => { r with store := r.store.putRecord venue.text .poolKeys keys.toJson }
    pure keys

/-- The non-native mint of a pool. -/
def mint (keys : PoolKeys) : RegistryM PoolError (Key × Bool) :=
  match keys.mint? with
  | some found => pure found
  | none => throw .neitherMintIsNative

/-- Lamports in the vault on the native side of a pool. -/
def nativeBalance (keys : PoolKeys) : RegistryM PoolError UInt64 := do
  let (_, nativeIsBase) ← mint keys
  orThrow .remote (← readBalance (if nativeIsBase then keys.baseVault else keys.quoteVault))

end Registry

end PoolWatch
