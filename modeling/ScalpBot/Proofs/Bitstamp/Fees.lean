import ScalpBot.Proofs.Bitstamp.OpenOrders
import ScalpBot.Proofs.Decimal.Monotone
import ScalpBot.Proofs.Json.Literal
import ScalpBot.Proofs.Json.Members

/-!
# The fee rate of a market

A balance has the fee in percent under one of two names (`BalanceReply.FeeAt`), and the percentage may be
written with quotes or without (`PlainNumeral.Stands`). Under the market's own name both are read, and the
rate is exactly a hundredth of what was written. Under the name for all markets only a string is: a
number there fails the whole reply (`feeRates_hundredth`).
-/

namespace ScalpBot

/-! ## A percentage in a reply -/

namespace PlainNumeral

/-- The numeral stands in a reply as this value: as a string, or as the number that its text is read
as. -/
inductive Stands (p : PlainNumeral) : Json → Prop
  | quoted : Stands p (.string p.text)
  | bare {v : Json} (read : Json.parse p.text = some v) : Stands p v

variable {p : PlainNumeral} {v : Json}

theorem fits_of_few (hfew : p.digits < 10 ^ 15) (hplaces : p.places ≤ 15) : p.Fits :=
  ⟨Binary64.le_maxCoefficient hfew, hplaces.trans (by decide)⟩

/-- **A hundredth of a numeral of few digits is exact.** -/
theorem value_percent (hfew : p.digits < 10 ^ 15) (hplaces : p.places ≤ 15) {a : Decimal}
    (ha : a.value = p.value) : a.percent.value = p.value / 100 := by
  let c : Decimal := ⟨p.digits, p.places + 2, Binary64.le_maxCoefficient hfew,
    (Nat.add_le_add_right hplaces 2).trans (by decide)⟩
  have hc : c.value = p.value / 100 := by
    have hvalue : c.value = p.digits / 10 ^ (p.places + 2) := rfl
    rw [hvalue, value, pow_add, div_div]
    norm_num
  rw [← hc]
  exact Decimal.value_percent (ha ▸ p.value_nonneg) (ha ▸ hc)

end PlainNumeral

namespace Bitstamp

namespace BalanceReply

/-! ## Where the fee stands -/

/-- The fee for a market is under `fee`, or under the name of the market where that is missing or
null. -/
inductive FeeAt (marketId : String) (balance v : Json) : Prop
  | general (fee : balance.member? "fee" = some v) : FeeAt marketId balance v
  | own (missing : balance.member? "fee" = none ∨ balance.member? "fee" = some .null)
      (fee : balance.member? (marketId ++ "_fee") = some v) : FeeAt marketId balance v

/-- The fee of a market as a text: a string as it is, a number as it is written. -/
def feeText? : Json → Option String
  | .string s => some s
  | .number n => some n.toText
  | _ => none

variable {marketId : String} {balance v : Json}

theorem exists_object {key : String} (h : balance.member? key = some v) :
    ∃ members, balance = .object members ∧ members.lookup key = some v := by
  cases balance with
  | object members => exact ⟨members, rfl, h⟩
  | _ => cases h

/-- The name of a market's own fee is longer than the name for all markets. -/
theorem own_ne_general (marketId : String) : marketId ++ "_fee" ≠ "fee" := by
  intro h
  have hlength := congrArg String.length h
  rw [String.length_append] at hlength
  have hown : "_fee".length = 4 := rfl
  have hgeneral : "fee".length = 3 := rfl
  omega

/-- A string under `fee` is the fee. -/
theorem feeFor_general (marketId : String) {s : String} (h : balance.member? "fee" = some (.string s)) :
    ∃ reply, ofJson balance = .ok reply ∧ reply.feeFor marketId = some s := by
  obtain ⟨members, rfl, hlookup⟩ := exists_object h
  refine ⟨⟨some s, members.filter (·.1 ≠ "fee")⟩, ?_, rfl⟩
  rw [ofJson, hlookup]
  rfl

/-- A number under `fee` is refused. -/
theorem ofJson_general_number {n : JsonNumber} (h : balance.member? "fee" = some (.number n)) :
    ofJson balance = .error (.invalidType (Json.number n).description "a string") := by
  obtain ⟨members, rfl, hlookup⟩ := exists_object h
  rw [ofJson, hlookup]
  rfl

/-- **Without the fee for all markets the market's own is the fee**, be it a string or a number. -/
theorem feeFor_own (missing : balance.member? "fee" = none ∨ balance.member? "fee" = some .null)
    (h : balance.member? (marketId ++ "_fee") = some v) :
    ∃ reply, ofJson balance = .ok reply ∧ reply.feeFor marketId = feeText? v := by
  obtain ⟨members, rfl, hlookup⟩ := exists_object h
  refine ⟨⟨none, members.filter (·.1 ≠ "fee")⟩, ?_, ?_⟩
  · rcases missing with hnone | hnull
    · rw [ofJson, show members.lookup "fee" = none from hnone]
      rfl
    · rw [ofJson, show members.lookup "fee" = some .null from hnull]
      rfl
  · have hother := (Json.lookup_filter_ne (own_ne_general marketId) members).trans hlookup
    rw [feeFor]
    simp only [hother]
    cases v <;> rfl

end BalanceReply

/-! ## From the reply to the rate -/

open BalanceReply

variable {marketId : String} {balance v : Json} {p : PlainNumeral}

/-- What a percentage stands as is no null, and its text is read as the percentage. -/
theorem exists_parse_feeText (hfew : p.digits < 10 ^ 15) (hplaces : p.places ≤ 15) (hv : p.Stands v) :
    ∃ text a, feeText? v = some text ∧ Decimal.parse (trimmed text) = .ok a ∧ a.value = p.value := by
  cases hv with
  | quoted =>
    obtain ⟨a, hparse, hvalue⟩ := PlainNumeral.exists_parse_text (p.fits_of_few hfew hplaces)
    exact ⟨_, a, rfl, hparse, hvalue⟩
  | bare read =>
    obtain ⟨n, a, rfl, hparse, hvalue⟩ := PlainNumeral.exists_parse_number hfew hplaces read
    exact ⟨_, a, rfl, hparse, hvalue⟩

namespace Client

theorem readFee_of_feeFor {reply : BalanceReply} {text : String} {a : Decimal}
    (hfee : reply.feeFor marketId = some text) (ha : Decimal.parse (trimmed text) = .ok a) :
    readFee marketId reply = .ok a.percent := by
  rw [readFee, hfee]
  exact bind_eq_ok_iff.mpr ⟨a, readDecimal_eq_ok_iff.mpr ha, rfl⟩

/-- What is read from a balance that was delivered. -/
def readBalance (marketId : String) (balance : Json) : Except Failure Decimal :=
  readValue BalanceReply.ofJson balance >>= readFee marketId

/-- **What comes of a percentage in a balance**: a hundredth of it, unless it is a number under `fee`,
which is refused. -/
structure FeeRead (p : PlainNumeral) (balance : Json) (result : Except Failure Decimal) : Prop where
  hundredth_iff : (∃ rate, result = .ok rate ∧ rate.value = p.value / 100) ↔
    ∀ n, balance.member? "fee" ≠ some (.number n)
  refused : ∀ n, balance.member? "fee" = some (.number n) →
    result = .error (.jsonParse (.mismatch (.invalidType (Json.number n).description "a string")))

/-- A number under `fee` fails the reading. -/
theorem readBalance_of_number {n : JsonNumber} (hrejection : ErrorReply.ofValue? balance = none)
    (h : balance.member? "fee" = some (.number n)) : readBalance marketId balance =
      .error (.jsonParse (.mismatch (.invalidType (Json.number n).description "a string"))) := by
  rw [readBalance, readValue, hrejection, ofJson_general_number h]
  rfl

theorem feeRead_of_number {n : JsonNumber} (hrejection : ErrorReply.ofValue? balance = none)
    (h : balance.member? "fee" = some (.number n)) :
    FeeRead p balance (readBalance marketId balance) := by
  refine ⟨iff_of_false ?_ fun hnone => hnone n h, fun m hm => readBalance_of_number hrejection hm⟩
  rintro ⟨rate, hrate, -⟩
  cases (readBalance_of_number hrejection h).symm.trans hrate

/-- Any other percentage is read. -/
theorem feeRead_of_feeFor {reply : BalanceReply} (hfew : p.digits < 10 ^ 15) (hplaces : p.places ≤ 15)
    (hv : p.Stands v) (hrejection : ErrorReply.ofValue? balance = none)
    (hread : ofJson balance = .ok reply) (hfee : reply.feeFor marketId = feeText? v)
    (hother : ∀ n, balance.member? "fee" ≠ some (.number n)) :
    FeeRead p balance (readBalance marketId balance) := by
  obtain ⟨text, a, htext, hparse, hvalue⟩ := exists_parse_feeText hfew hplaces hv
  have hresult : readBalance marketId balance = .ok a.percent :=
    bind_eq_ok_iff.mpr ⟨reply, readValue_eq_ok_iff.mpr ⟨hrejection, hread⟩,
      readFee_of_feeFor (hfee.trans htext) hparse⟩
  exact ⟨iff_of_true ⟨_, hresult, PlainNumeral.value_percent hfew hplaces hvalue⟩ hother,
    fun n hn => absurd hn (hother n)⟩

/-- **A percentage is read from where it stands.** -/
theorem feeRead_readBalance (hfew : p.digits < 10 ^ 15) (hplaces : p.places ≤ 15) (hv : p.Stands v)
    (hfee : FeeAt marketId balance v) (hrejection : ErrorReply.ofValue? balance = none) :
    FeeRead p balance (readBalance marketId balance) := by
  cases hfee with
  | general fee =>
    cases hv with
    | quoted =>
      obtain ⟨reply, hread, hreply⟩ := feeFor_general marketId fee
      exact feeRead_of_feeFor hfew hplaces .quoted hrejection hread hreply
        fun n hn => by cases fee.symm.trans hn
    | bare read =>
      obtain ⟨n, -, rfl, -⟩ := PlainNumeral.exists_parse_number hfew hplaces read
      exact feeRead_of_number hrejection fee
  | own missing fee =>
    obtain ⟨reply, hread, hreply⟩ := feeFor_own missing fee
    refine feeRead_of_feeFor hfew hplaces hv hrejection hread hreply fun n hn => ?_
    rcases missing with hnone | hnull
    · cases hnone.symm.trans hn
    · cases hnull.symm.trans hn

variable {ν : Type} {c : Client} {net : Network ν} {world : ν}

/-- Both calls for a fee rate ask for the same. -/
theorem receives_sellFeeRate_iff : c.Receives net marketId .sellFeeRate world balance ↔
    c.Receives net marketId .buyFeeRate world balance := Iff.rfl

theorem buyFeeRate_of_receives (h : c.Receives net marketId .buyFeeRate world balance) :
    (c.answer net marketId .buyFeeRate world).1 = readBalance marketId balance := by
  obtain ⟨now, hanswer⟩ := answer_of_receives h
  exact hanswer

theorem sellFeeRate_of_receives (h : c.Receives net marketId .sellFeeRate world balance) :
    (c.answer net marketId .sellFeeRate world).1 = readBalance marketId balance := by
  obtain ⟨now, hanswer⟩ := answer_of_receives h
  exact hanswer

/-- **Fee rates are a hundredth of the percentage.**  Let a percentage of at most 15 places and 15
digits, zeros in front aside, be the fee for a market in a balance, under either name, with quotes or
without, and let the balance be no rejection, whatever else it has. Both calls for a fee rate that receive
the balance are answered with exactly a hundredth of the percentage, except where it is a number under the
name for all markets: then both fail. -/
theorem feeRates_hundredth (c : Client) (net : Network ν) (hfew : p.digits < 10 ^ 15)
    (hplaces : p.places ≤ 15) (hv : p.Stands v) (hfee : FeeAt marketId balance v)
    (hrejection : ErrorReply.ofValue? balance = none) :
    (∀ world, c.Receives net marketId .buyFeeRate world balance →
      FeeRead p balance (c.answer net marketId .buyFeeRate world).1) ∧
    ∀ world, c.Receives net marketId .sellFeeRate world balance →
      FeeRead p balance (c.answer net marketId .sellFeeRate world).1 := by
  have hread := feeRead_readBalance hfew hplaces hv hfee hrejection
  refine ⟨fun world h => ?_, fun world h => ?_⟩
  · rw [buyFeeRate_of_receives h]
    exact hread
  · rw [sellFeeRate_of_receives h]
    exact hread

/-! ## A quarter of a percent -/

/-- The percentage 0.25. -/
def quarter : PlainNumeral where
  whole := ['0']
  fraction := ['2', '5']
  whole_ne_nil := List.cons_ne_nil _ _
  isDigit := List.all_eq_true.mp rfl

/-- The number that it is read as. -/
def quarterNumber : JsonNumber := .float (.finite false (2 ^ 52) (-54))

/-- Whether a value is there and is this number. -/
def isQuarter : Option Json → Bool
  | some (.number n) => n = quarterNumber
  | _ => false

theorem eq_of_isQuarter {v? : Option Json} (h : isQuarter v? = true) :
    v? = some (.number quarterNumber) := by
  rw [isQuarter.eq_def] at h
  split at h
  · rw [of_decide_eq_true h]
  · cases h

theorem stands_quarter : quarter.Stands (.number quarterNumber) :=
  .bare (eq_of_isQuarter (by decide +kernel))

/-- A balance with the market's own fee as a number. -/
def ownFeeBody : String := "\x7b\"ltcbtc_fee\": 0.25, \"btc_available\": [3]\x7d"

/-- The number under the name of the market gives the rate. -/
theorem ownFee_hundredth : ∃ balance,
    quarter.digits < 10 ^ 15 ∧ quarter.places ≤ 15 ∧ quarter.Stands (.number quarterNumber) ∧
    FeeAt "ltcbtc" balance (.number quarterNumber) ∧ ErrorReply.ofValue? balance = none ∧
    sample.Receives (.steady ownFeeBody) "ltcbtc" .buyFeeRate () balance ∧
    sample.Receives (.steady ownFeeBody) "ltcbtc" .sellFeeRate () balance ∧
    (∃ rate, (sample.answer (.steady ownFeeBody) "ltcbtc" .buyFeeRate ()).1 = .ok rate ∧
      rate.value = quarter.value / 100) ∧
    ∃ rate, (sample.answer (.steady ownFeeBody) "ltcbtc" .sellFeeRate ()).1 = .ok rate ∧
      rate.value = quarter.value / 100 := by
  obtain ⟨balance, hparse, hbalance⟩ := (Option.any_eq_true
    (fun v => (ErrorReply.ofValue? v).isNone && (v.member? "fee").isNone &&
      isQuarter (v.member? "ltcbtc_fee")) (Json.parse ownFeeBody)).mp (by decide +kernel)
  simp only [Bool.and_eq_true, Option.isNone_iff_eq_none] at hbalance
  obtain ⟨⟨hrejection, hmissing⟩, hfee⟩ := hbalance
  have hat : FeeAt "ltcbtc" balance (.number quarterNumber) :=
    .own (.inl hmissing) (eq_of_isQuarter hfee)
  have hother : ∀ n, balance.member? "fee" ≠ some (.number n) :=
    fun n hn => by cases hmissing.symm.trans hn
  have hbuy : sample.Receives (.steady ownFeeBody) "ltcbtc" .buyFeeRate () balance :=
    receives_steady (by decide +kernel) (by decide) hparse
  have hsell := receives_sellFeeRate_iff.mpr hbuy
  have hrates := feeRates_hundredth sample (.steady ownFeeBody) (by decide) (by decide)
    stands_quarter hat hrejection
  exact ⟨balance, by decide, by decide, stands_quarter, hat, hrejection, hbuy, hsell,
    (hrates.1 () hbuy).hundredth_iff.mpr hother, (hrates.2 () hsell).hundredth_iff.mpr hother⟩

/-- A balance with the fee for all markets as a number. -/
def generalFeeBody : String := "\x7b\"fee\": 0.25\x7d"

/-- **The same number under the name for all markets** gives no rate: both calls fail. -/
theorem generalFee_refused : ∃ balance,
    quarter.digits < 10 ^ 15 ∧ quarter.places ≤ 15 ∧ quarter.Stands (.number quarterNumber) ∧
    FeeAt "ltcbtc" balance (.number quarterNumber) ∧ ErrorReply.ofValue? balance = none ∧
    sample.Receives (.steady generalFeeBody) "ltcbtc" .buyFeeRate () balance ∧
    sample.Receives (.steady generalFeeBody) "ltcbtc" .sellFeeRate () balance ∧
    (sample.answer (.steady generalFeeBody) "ltcbtc" .buyFeeRate ()).1 =
      .error (.jsonParse (.mismatch (.invalidType "floating point `0.25`" "a string"))) ∧
    (sample.answer (.steady generalFeeBody) "ltcbtc" .sellFeeRate ()).1 =
      .error (.jsonParse (.mismatch (.invalidType "floating point `0.25`" "a string"))) := by
  obtain ⟨balance, hparse, hbalance⟩ := (Option.any_eq_true
    (fun v => (ErrorReply.ofValue? v).isNone && isQuarter (v.member? "fee"))
    (Json.parse generalFeeBody)).mp (by decide +kernel)
  rw [Bool.and_eq_true, Option.isNone_iff_eq_none] at hbalance
  obtain ⟨hrejection, hfee⟩ := hbalance
  have hgeneral := eq_of_isQuarter hfee
  have hbuy : sample.Receives (.steady generalFeeBody) "ltcbtc" .buyFeeRate () balance :=
    receives_steady (by decide +kernel) (by decide) hparse
  have hsell := receives_sellFeeRate_iff.mpr hbuy
  have hrefused : readBalance "ltcbtc" balance =
      .error (.jsonParse (.mismatch (.invalidType "floating point `0.25`" "a string"))) :=
    readBalance_of_number hrejection hgeneral
  exact ⟨balance, by decide, by decide, stands_quarter, .general hgeneral, hrejection, hbuy, hsell,
    (buyFeeRate_of_receives hbuy).trans hrefused, (sellFeeRate_of_receives hsell).trans hrefused⟩

end Client

end Bitstamp

end ScalpBot
