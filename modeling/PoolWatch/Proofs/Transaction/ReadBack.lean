import PoolWatch.Proofs.Registry.Tables
import PoolWatch.Proofs.Transaction.Compiles
import PoolWatch.Swap

/-! # Reading a message back

    What was compiled can be read off the chain again: resolving every
    account of every instruction gives the calls that went in, their
    programs, their accounts in order and their data, if the table that the
    message took entries from still has the same addresses. -/

namespace PoolWatch

/-! ## Carrying -/

/-- An instruction of an envelope that stands for a call, as far as the
    registry can tell. -/
structure Registry.Carries (r : Registry) (e : Envelope) (ix : CompiledInstruction)
    (c : Call) : Prop where
  program : e.programOf? ix = some c.program
  accounts : List.Forall₂ (fun (n : UInt8) (a : AccountMeta) =>
    r.HasKey e.accountKeys e.tableLookups n.toNat a.key) ix.accounts c.accounts
  data : ix.data = c.data

namespace Registry

variable {r r' : Registry} {e : Envelope} {ix : CompiledInstruction} {c : Call}

theorem Carries.of_keepsTables (h : r.Carries e ix c) (hkeeps : keepsTables.rel r r') :
    r'.Carries e ix c :=
  ⟨h.program, h.accounts.imp fun _ _ hkey => hkey.of_keepsTables hkeeps, h.data⟩

/-- Each position of such an instruction is resolved to the call's account. -/
theorem Carries.resolve (h : r.Carries e ix c) {position : Nat} {key : Key}
    (hkey : (c.accounts.map AccountMeta.key)[position]? = some key) :
    (runOn (Registry.resolve e ix position) r).1 = .ok key := by
  rw [List.getElem?_map] at hkey
  obtain ⟨a, ha, rfl⟩ := Option.map_eq_some_iff.1 hkey
  obtain ⟨hlt, rfl⟩ := List.getElem?_eq_some_iff.1 ha
  obtain ⟨hlength, hkeys⟩ := List.forall₂_iff_get.1 h.accounts
  have hlt' : position < ix.accounts.length := hlength ▸ hlt
  exact (hkeys position hlt' hlt).resolve (List.getElem?_eq_getElem hlt')

/-- What an envelope carries depends on its keys and its tables only. -/
theorem Carries.congr {e' : Envelope} (h : r.Carries e ix c)
    (hkeys : e'.accountKeys = e.accountKeys) (hlookups : e'.tableLookups = e.tableLookups) :
    r.Carries e' ix c := by
  refine ⟨?_, ?_, h.data⟩
  · unfold Envelope.programOf?
    rw [hkeys]
    exact h.program
  · rw [hkeys, hlookups]
    exact h.accounts

end Registry

/-! ## Reading back -/

/-- An instruction with its accounts resolved; its program is looked up among
    the static keys. -/
structure ReadCall where
  program : Option Key
  accounts : List Key
  data : Bytes

/-- What a call reads back as. -/
def Call.read (c : Call) : ReadCall :=
  ⟨some c.program, c.accounts.map AccountMeta.key, c.data⟩

namespace Registry

/-- Resolves every position of an instruction, one after the other. -/
def readCall (e : Envelope) (ix : CompiledInstruction) : RegistryM ResolveError ReadCall := do
  let accounts ← (List.range ix.accounts.length).mapM (resolve e ix)
  pure ⟨e.programOf? ix, accounts, ix.data⟩

/-- Resolves every instruction of an envelope. -/
def readBack (e : Envelope) : RegistryM ResolveError (List ReadCall) :=
  e.instructions.mapM (readCall e)

variable {r : Registry} {e : Envelope} {ix : CompiledInstruction} {c : Call}

theorem readCall_keepsTables (e : Envelope) (ix : CompiledInstruction) :
    keepsTables.Allows (readCall e ix).run :=
  Frame.allows_run_bind (Frame.allows_run_mapM (resolve_keepsTables e ix) _)
    fun _ => Frame.allows_run_pure _

/-- An instruction that stands for a call reads back as the call. -/
theorem runOn_readCall (h : r.Carries e ix c) : (runOn (readCall e ix) r).1 = .ok c.read := by
  have hlength : ix.accounts.length = c.accounts.length := h.accounts.length_eq
  -- resolving one position leaves the others as they were, for no table is lost
  have hpositions : List.Forall₂ (fun position key => ∀ r', keepsTables.rel r r' →
      (runOn (resolve e ix position) r').1 = .ok key)
      (List.range ix.accounts.length) (c.accounts.map AccountMeta.key) := by
    refine List.forall₂_iff_get.2 ⟨by simp [hlength], ?_⟩
    intro position _ hlt r' hkeeps
    have hkey := List.getElem?_eq_getElem hlt
    simpa using (h.of_keepsTables hkeeps).resolve hkey
  have hkeys := Frame.runOn_mapM (resolve_keepsTables e ix) hpositions
  unfold readCall
  rw [runOn_bind_ok (Prod.ext hkeys rfl), h.program, h.data]
  rfl

/-- So do all instructions together. -/
theorem runOn_readBack {calls : List Call}
    (h : List.Forall₂ (r.Carries e) e.instructions calls) :
    (runOn (readBack e) r).1 = .ok (calls.map Call.read) := by
  refine Frame.runOn_mapM (readCall_keepsTables e) (List.forall₂_map_right_iff.2 (h.imp ?_))
  intro ix c hcarries r' hkeeps
  exact runOn_readCall (hcarries.of_keepsTables hkeeps)

end Registry

/-! ## Messages -/

namespace Message

variable {payer blockhash : Key} {calls : List Call} {table : Option TableAccount} {m : Message}

/-- The instructions of a compiled message stand for the calls it was compiled
    from, for a registry that has the message's table. -/
theorem carries_compile (h : compile payer calls table.toList blockhash = .ok m)
    (signature : String) {r : Registry} (hr : ∀ t ∈ table, r.HasTable t.key t.addresses) :
    List.Forall₂ (r.Carries (m.toEnvelope signature)) m.instructions calls := by
  obtain ⟨drained, left, htaken, hstatic, hlookups, hnumbered, -⟩ := compile_eq_ok h
  have hone : table.toList.length ≤ 1 := by cases table <;> simp
  have hkey : ∀ (n : UInt8) (key : Key),
      (numbering m.staticKeys drained)[n.toNat]? = some key →
      r.HasKey m.staticKeys m.lookups n.toNat key := by
    intro n key hn
    -- what is no static key is an entry, and the registry has its table
    rcases entry_of_number htaken hone hn with hkey | ⟨hle, entry, hentry, t, ht, htable, haddress⟩
    · exact .static hkey
    · rw [← hlookups] at hentry
      refine .entry hle hentry ?_ haddress
      rw [htable]
      exact hr t (Option.mem_toList.1 ht)
  -- no table takes over a program, so programs are static keys
  have hmem : ∀ c ∈ calls, c.program ∈ m.staticKeys := by
    intro c hc
    obtain ⟨v, hv, hvkey, hinvoked⟩ := invoked_uses payer hc
    rw [hstatic, ← hvkey]
    exact mem_staticOf payer (htaken.invoked v hv hinvoked)
  refine List.forall₂_iff_get.2 ⟨hnumbered.length_eq, ?_⟩
  intro i hi hi'
  have hix := (List.forall₂_iff_get.1 hnumbered).2 i hi hi'
  refine ⟨?_, hix.accounts.imp fun n a hn => hkey n a.key hn, hix.data⟩
  have hprogram := hix.program
  unfold numbering at hprogram
  rw [List.append_assoc] at hprogram
  exact getElem?_static (hmem _ (List.get_mem _ _)) hprogram

end Message

/-- A swap that could be built reads back as the calls it was built from:
    each program as a static key, the same accounts in the same order, and
    the same data. -/
theorem readBack_transaction {seed : Bytes} {native blockhash : Key} {options : SwapOptions}
    {order : SwapOrder} {channel : Channel} {tx : Transaction}
    (h : Swap.transaction seed native options order channel blockhash = .ok tx) :
    ∃ m calls, Swap.message (keyOfSeed seed) native options order channel blockhash = .ok m ∧
      tx = Transaction.signed seed m ∧
      Swap.calls (keyOfSeed seed) native options order channel = .ok calls ∧
      ∀ signature r, (∀ t ∈ options.lookupTable, r.HasTable t.key t.addresses) →
        (runOn (Registry.readBack (m.toEnvelope signature)) r).1 =
          .ok (calls.map Call.read) := by
  obtain ⟨m, hm, rfl⟩ := Swap.transaction_eq_ok h
  obtain ⟨calls, hcalls, hcompile⟩ := Swap.message_eq_ok hm
  refine ⟨m, calls, hm, rfl, hcalls, fun signature r hr => ?_⟩
  exact Registry.runOn_readBack (Message.carries_compile hcompile signature hr)

/-! ## A swap that reads back -/

namespace ReadBackSample

/-- A sale on a venue whose base is the native asset. -/
def order : SwapOrder where
  keys := ⟨.ofNat 1, Address.wrappedNative, .ofNat 3, .ofNat 4, 9, 6, 4, Address.venueProgram,
    .ofNat 5, .ofNat 6, .ofNat 7, .ofNat 8, .ofNat 9, .ofNat 10, .ofNat 11, 3, .ofNat 12,
    .ofNat 13, .ofNat 14, .ofNat 15, .ofNat 16, .ofNat 17, .ofNat 18, .ofNat 19⟩
  action := .sell
  amountIn := 500
  minimumOut := 1
  compute := ⟨200000, 7⟩

/-- A table with some of the venue's accounts, one of them twice. -/
def table : TableAccount := ⟨.ofNat 20, [.ofNat 7, .ofNat 14, .ofNat 7]⟩

/-- A tip, and the table. -/
def options : SwapOptions := ⟨1000, some table⟩

/-- A registry that keeps the table. -/
def registry : Registry :=
  Registry.withRecord ⟨.empty, .empty, []⟩ table.key.text .lookupTable
    (Account.LookupTable.ofAddresses table.addresses).toJson

theorem hasTable : registry.HasTable table.key table.addresses :=
  .kept (Registry.tableRecord_withRecord_self _ table.key _) rfl

/-- The swap can be built on the paid relay, and reads back. -/
theorem readBack_order : ∃ tx m calls,
    Swap.transaction [] .zero options order .paidRelay .zero = .ok tx ∧
      Swap.message (keyOfSeed []) .zero options order .paidRelay .zero = .ok m ∧
      tx = Transaction.signed [] m ∧
      Swap.calls (keyOfSeed []) .zero options order .paidRelay = .ok calls ∧
      (runOn (Registry.readBack (m.toEnvelope "")) registry).1 = .ok (calls.map Call.read) := by
  have hmint : order.keys.mint? = some (.ofNat 3, true) := if_pos rfl
  obtain ⟨m, hm⟩ : ∃ m,
      Swap.message (keyOfSeed []) .zero options order .paidRelay .zero = .ok m := by
    refine Swap.exists_message (Swap.calls_eq hmint) fun t ht => ?_
    obtain rfl : table = t := Option.some.inj ht
    exact Message.addressable_of_length (by decide) _
  have htx : Swap.transaction [] .zero options order .paidRelay .zero =
      .ok (Transaction.signed [] m) := by
    unfold Swap.transaction
    rw [hm]
    rfl
  obtain ⟨m', calls, hm', hsigned, hcalls, hread⟩ := readBack_transaction htx
  refine ⟨_, m', calls, htx, hm', hsigned, hcalls, hread "" registry fun t ht => ?_⟩
  obtain rfl : table = t := Option.some.inj ht
  exact hasTable

end ReadBackSample

end PoolWatch
