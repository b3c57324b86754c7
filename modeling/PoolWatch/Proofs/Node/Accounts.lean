import PoolWatch.Node.Answer
import PoolWatch.Proofs.Run
import PoolWatch.Proofs.Store.Records
import PoolWatch.Proofs.Text.Base64
import PoolWatch.Proofs.Text.KeyText

/-! # Account answers are read exactly

    An account is told by its data in base 64, the text of its owner and its
    balance.  What is read is what was told: the data byte by byte, or an
    error.  No account is only told by a value that is missing or null. -/

namespace PoolWatch

theorem Json.text?_eq_some_iff {j : Json} {s : String} : j.text? = some s ↔ j = .text s := by
  constructor
  · intro h
    cases j with
    | string text? =>
      obtain rfl : text? = some s := h
      rfl
    | _ => cases h
  · rintro rfl
    rfl

namespace Node

/-! ## Data -/

/-- Data as it is told: its base 64 text alone, or an array that starts with it. -/
inductive TellsData (bytes : Bytes) : Json → Prop where
  | alone : TellsData bytes (.text (Text.Base64.encode bytes))
  | first (rest : List Json) : TellsData bytes (.array (.text (Text.Base64.encode bytes) :: rest))

variable {bytes : Bytes} {data account result : Json} {info : AccountInfo}

theorem readDataText_eq_ok_iff {text : String} :
    readDataText text = .ok bytes ↔ text = Text.Base64.encode bytes := by
  rw [← Text.Base64.decode?_eq_some_iff]
  unfold readDataText
  cases Text.Base64.decode? text <;> simp

theorem readData_eq_ok_iff : readData data = .ok bytes ↔ TellsData bytes data := by
  constructor
  · intro h
    unfold readData at h
    split at h
    · next items =>
      split at h
      · next text htext =>
        obtain ⟨item, hitem, htext⟩ := Option.bind_eq_some_iff.1 htext
        obtain rfl := Json.text?_eq_some_iff.1 htext
        obtain ⟨rest, rfl⟩ := List.head?_eq_some_iff.1 hitem
        obtain rfl := readDataText_eq_ok_iff.1 h
        exact .first rest
      · cases h
    · next text =>
      obtain rfl := readDataText_eq_ok_iff.1 h
      exact .alone
    · cases h
  · rintro (_ | rest)
    · exact readDataText_eq_ok_iff.2 rfl
    · exact readDataText_eq_ok_iff.2 rfl

/-! ## Accounts -/

/-- What has to be told of an account before it is read: its data and its owner. -/
structure TellsOf (account : Json) (bytes : Bytes) (owner : Key) : Prop where
  data : ∃ data, account.get? "data" = some data ∧ TellsData bytes data
  owner : account.get? "owner" = some (.text owner.text)

/-- The balance that is told of an account, zero where none is. -/
def lamportsOf (account : Json) : UInt64 :=
  ((account.get? "lamports").bind Json.word64?).getD 0

/-- An account that is there is read as exactly what is told of it. -/
theorem readPresent_eq_ok_iff :
    readPresent account = .ok info ↔
      TellsOf account info.data info.owner ∧ info.lamports = lamportsOf account := by
  constructor
  · intro h
    unfold readPresent at h
    split at h
    · next data hdata =>
      split at h
      · next owner howner =>
        obtain ⟨bytes, hbytes, h⟩ := bind_eq_ok.1 h
        split at h
        · next key hkey =>
          cases h
          -- the owner's text is the one that its key is written as
          obtain rfl := Key.parse?_eq_some_iff.1 hkey
          obtain ⟨told, htold, htext⟩ := Option.bind_eq_some_iff.1 howner
          obtain rfl := Json.text?_eq_some_iff.1 htext
          exact ⟨⟨⟨data, hdata, readData_eq_ok_iff.1 hbytes⟩, htold⟩, rfl⟩
        · cases h
      · cases h
    · cases h
  · rintro ⟨⟨⟨data, hdata, hbytes⟩, howner⟩, hlamports⟩
    have hread := readData_eq_ok_iff.2 hbytes
    obtain ⟨bytes, owner, lamports⟩ := info
    obtain rfl : lamports = lamportsOf account := hlamports
    simp only [readPresent, hdata, howner, hread, Option.bind_some, Json.text?_text,
      Key.parse?_text]
    rfl

/-! ## Answers -/

theorem readAccount_eq_none_iff :
    readAccount result = .ok none ↔
      result.get? "value" = none ∨ result.get? "value" = some .null := by
  unfold readAccount
  split
  · next h => simp [h]
  · next h => simp [h]
  · next account hne h =>
    have hnull : account ≠ .null := fun h => hne (h ▸ rfl)
    have hnone : (readPresent account).map some ≠ .ok none := by
      intro h
      obtain ⟨info, -, h⟩ := map_eq_ok.1 h
      cases h
    simp [h, hnone, hnull]

theorem readAccount_of_value {account : Json} (h : result.get? "value" = some account)
    (hnull : account ≠ .null) : readAccount result = (readPresent account).map some := by
  unfold readAccount
  rw [h]
  cases account with
  | null => exact absurd rfl hnull
  | _ => rfl

/-- Null tells of no account. -/
theorem TellsOf.ne_null {owner : Key} (h : TellsOf account bytes owner) : account ≠ .null := by
  rintro rfl
  cases h.owner

theorem readAccount_eq_some_iff :
    readAccount result = .ok (some info) ↔
      ∃ account, result.get? "value" = some account ∧ TellsOf account info.data info.owner ∧
        info.lamports = lamportsOf account := by
  constructor
  · intro h
    by_cases hnone : result.get? "value" = none ∨ result.get? "value" = some .null
    · rw [readAccount_eq_none_iff.2 hnone] at h
      cases h
    · obtain ⟨hmissing, hnull⟩ := not_or.1 hnone
      obtain ⟨account, hvalue⟩ := Option.ne_none_iff_exists'.1 hmissing
      rw [readAccount_of_value hvalue (fun h => hnull (h ▸ hvalue)), map_eq_ok] at h
      obtain ⟨info', hread, hinfo⟩ := h
      obtain rfl := Option.some.inj hinfo
      exact ⟨account, hvalue, readPresent_eq_ok_iff.1 hread⟩
  · rintro ⟨account, hvalue, htells⟩
    rw [readAccount_of_value hvalue htells.1.ne_null, readPresent_eq_ok_iff.2 htells]
    rfl

theorem readAccount_isError_iff :
    (∃ fault, readAccount result = .error fault) ↔
      ∃ account, result.get? "value" = some account ∧ account ≠ .null ∧
        ((¬ ∃ data bytes, account.get? "data" = some data ∧ TellsData bytes data) ∨
          ¬ ∃ owner : Key, account.get? "owner" = some (.text owner.text)) := by
  constructor
  · rintro ⟨fault, hfault⟩
    have hthere : ¬ (result.get? "value" = none ∨ result.get? "value" = some .null) := by
      intro h
      rw [readAccount_eq_none_iff.2 h] at hfault
      cases hfault
    obtain ⟨hmissing, hnull⟩ := not_or.1 hthere
    obtain ⟨account, hvalue⟩ := Option.ne_none_iff_exists'.1 hmissing
    refine ⟨account, hvalue, fun h => hnull (h ▸ hvalue), ?_⟩
    by_contra htold
    obtain ⟨hdata, howner⟩ := not_or.1 htold
    obtain ⟨data, bytes, hdata, hbytes⟩ := not_not.1 hdata
    obtain ⟨owner, howner⟩ := not_not.1 howner
    -- both are told, so the account is read
    have hread : readAccount result = .ok (some ⟨bytes, owner, lamportsOf account⟩) :=
      readAccount_eq_some_iff.2 ⟨account, hvalue, ⟨⟨data, hdata, hbytes⟩, howner⟩, rfl⟩
    rw [hread] at hfault
    cases hfault
  · rintro ⟨account, hvalue, hnull, htold⟩
    rw [readAccount_of_value hvalue hnull]
    cases hread : readPresent account with
    | error fault => exact ⟨fault, rfl⟩
    | ok info =>
      obtain ⟨⟨⟨data, hdata, hbytes⟩, howner⟩, -⟩ := readPresent_eq_ok_iff.1 hread
      rcases htold with hnodata | hnoowner
      · exact absurd ⟨data, info.data, hdata, hbytes⟩ hnodata
      · exact absurd ⟨info.owner, howner⟩ hnoowner

/-- An account answer is read exactly.  An account whose data, owner and
    balance are told is read as these; no account is read only where the
    value is missing or null; whatever is read was told; and where the data or
    the owner of an account is not told, the answer is an error. -/
theorem readAccount_exact (result : Json) :
    (∀ account bytes (owner : Key) (lamports : UInt64), result.get? "value" = some account →
      TellsOf account bytes owner → account.get? "lamports" = some (.nat lamports.toNat) →
        readAccount result = .ok (some ⟨bytes, owner, lamports⟩)) ∧
    (readAccount result = .ok none ↔
      result.get? "value" = none ∨ result.get? "value" = some .null) ∧
    (∀ info, readAccount result = .ok (some info) ↔
      ∃ account, result.get? "value" = some account ∧ TellsOf account info.data info.owner ∧
        info.lamports = lamportsOf account) ∧
    ((∃ fault, readAccount result = .error fault) ↔
      ∃ account, result.get? "value" = some account ∧ account ≠ .null ∧
        ((¬ ∃ data bytes, account.get? "data" = some data ∧ TellsData bytes data) ∨
          ¬ ∃ owner : Key, account.get? "owner" = some (.text owner.text))) := by
  refine ⟨?_, readAccount_eq_none_iff, fun _ => readAccount_eq_some_iff,
    readAccount_isError_iff⟩
  intro account bytes owner lamports hvalue htells hlamports
  apply readAccount_eq_some_iff.2
  refine ⟨account, hvalue, htells, ?_⟩
  rw [lamportsOf, hlamports, Option.bind_some, Json.word64?_nat, Option.getD_some]

/-- Three bytes under the zero key, told as `AQID`. -/
theorem readAccount_exact_three_bytes :
    readAccount (.record [("context", .record [("slot", .nat 1)]),
      ("value", .record [("data", .array [.text "AQID", .text "base64"]),
        ("executable", .bool false), ("lamports", .nat 2039280),
        ("owner", .text "11111111111111111111111111111111")])]) =
      .ok (some ⟨[1, 2, 3], Key.zero, 2039280⟩) := by
  have hdata : "AQID" = Text.Base64.encode [1, 2, 3] := by decide
  have howner : "11111111111111111111111111111111" = Key.zero.text := by
    decide +kernel
  rw [hdata, howner]
  exact (readAccount_exact _).1 _ [1, 2, 3] Key.zero 2039280 rfl ⟨⟨_, rfl, .first _⟩, rfl⟩ rfl

end Node

end PoolWatch
